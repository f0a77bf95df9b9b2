import CodeAudit.Proofs.Packaging.Fallback

/-!
# The bundle and where it is cut

The bundle of a list of files is the listing of all of them, followed by the heading and the contents
of each file that can be read.  The built-in packager does not build it and cut it: it counts
characters and stops at the first file that does not fit.  Both come to the same, up to one case: of
a file of which not even one character fits behind its heading, the heading is left out as well.

There are three cases.  The listing alone is too long and is cut; or everything fits; or there is one
file before which everything fits and which does not fit itself.  All that is said of a package
follows from the text that it holds in each of them.

**Results.**
* `manual_of_long_listing`, `manual_of_fits`, `manual_of_cut`: the package in the three cases.
* `exists_cut`: a bundle that does not fit behind its listing is cut at one of its files.
* `manual_cuts_bundle`: the package is a beginning of the bundle within the budget.
-/

namespace CodeAudit
namespace Packaging

/-- One part after another, each a heading and a body. -/
def joined (parts : List (String × String)) : String :=
  String.join (parts.map fun part => part.1 ++ part.2)

/-- The listing of all files, and the heading and the contents of each that can be read. -/
def bundle (read : ReadFile) (files : List FileRecord) : String :=
  listing files ++ joined (parts read files)

/-- What is appended of the part at which the budget ends, behind `used` characters. -/
def cutPart (budget used : Nat) (heading body : String) : String :=
  let opening := used + heading.length
  if opening < budget then heading ++ Text.cut body (budget - opening) else ""

section Parts

variable {budget used : Nat}

@[simp] theorem joined_nil :
    joined [] = "" := by
  rfl

@[simp] theorem joined_cons
    (heading body : String)
    (rest : List (String × String)) :
    joined ((heading, body) :: rest) = heading ++ body ++ joined rest := by
  simp [joined]

@[simp] theorem joined_append
    (earlier later : List (String × String)) :
    joined (earlier ++ later) = joined earlier ++ joined later := by
  induction earlier with
  | nil =>
      simp
  | cons part rest ih =>
      obtain ⟨heading, body⟩ := part
      simp [ih, String.append_assoc]

theorem parts_append
    (read : ReadFile)
    (earlier later : List FileRecord) :
    parts read (earlier ++ later) = parts read earlier ++ parts read later :=
  List.filterMap_append

theorem parts_cons_of_read
    {read : ReadFile}
    {file : FileRecord}
    {body : String}
    (hread : read file = some body)
    (later : List FileRecord) :
    parts read (file :: later) = (heading file, body) :: parts read later := by
  simp [parts, hread]

/-- What is cut of a part is a beginning of it, within the budget. -/
theorem prefix_cutPart
    (budget used : Nat)
    (heading body : String) :
    (cutPart budget used heading body).toList <+: heading.toList ++ body.toList := by
  simp only [cutPart]
  split
  · rw [String.toList_append, Text.toList_cut]
    exact (List.prefix_append_right_inj _).mpr (List.take_prefix _ _)
  · exact List.nil_prefix

/-- Parts that fit are appended, and the others are treated as if these had been there before. -/
theorem appendParts_append
    {earlier : List (String × String)}
    (hfits : used + (joined earlier).length ≤ budget)
    (later : List (String × String)) :
    appendParts budget used (earlier ++ later) =
      (joined earlier ++ (appendParts budget (used + (joined earlier).length) later).1,
        (appendParts budget (used + (joined earlier).length) later).2) := by
  induction earlier generalizing used with
  | nil =>
      simp
  | cons part rest ih =>
      obtain ⟨heading, body⟩ := part
      rw [joined_cons, String.length_append, String.length_append] at hfits
      have hpart : ¬ budget < used + (heading.length + body.length) := by
        omega
      have hlater : used + (heading.length + body.length) + (joined rest).length ≤ budget := by
        omega
      have hrest := ih hlater
      rw [List.cons_append, appendParts]
      simp only [if_neg hpart, hrest, joined_cons, String.length_append, String.append_assoc,
        Nat.add_assoc]

/-- Parts that all fit are all appended. -/
theorem appendParts_of_fits
    {parts : List (String × String)}
    (hfits : used + (joined parts).length ≤ budget) :
    appendParts budget used parts = (joined parts, false) := by
  have happend := appendParts_append hfits []
  rw [List.append_nil] at happend
  rw [happend]
  simp [appendParts]

/-- At the first part that does not fit the bundle ends. -/
theorem appendParts_cons_of_lt
    {heading body : String}
    (hlong : budget < used + (heading.length + body.length))
    (rest : List (String × String)) :
    appendParts budget used ((heading, body) :: rest) = (cutPart budget used heading body, true) := by
  rw [appendParts]
  simp only [if_pos hlong, cutPart, Nat.sub_pos_iff_lt]

/-- Nothing is appended to a bundle that is too long. -/
theorem appendParts_of_full
    (hfull : budget < used)
    (parts : List (String × String)) :
    (appendParts budget used parts).1 = "" := by
  cases parts with
  | nil =>
      rfl
  | cons part rest =>
      obtain ⟨heading, body⟩ := part
      have hopening : ¬ used + heading.length < budget := by
        omega
      rw [appendParts_cons_of_lt (by omega)]
      simp only [cutPart, if_neg hopening]

/-- If not all parts fit, there is a first one that does not. -/
theorem exists_first_unfit
    {parts : List (String × String)}
    (hused : used ≤ budget)
    (hlong : budget < used + (joined parts).length) :
    ∃ earlier heading body later,
      parts = earlier ++ (heading, body) :: later ∧
        used + (joined earlier).length ≤ budget ∧
        budget < used + (joined earlier).length + (heading.length + body.length) := by
  induction parts generalizing used with
  | nil =>
      simp at hlong
      omega
  | cons part rest ih =>
      obtain ⟨heading, body⟩ := part
      by_cases hpart : budget < used + (heading.length + body.length)
      · exact ⟨[], heading, body, rest, rfl, by simpa using hused, by simpa using hpart⟩
      · rw [joined_cons, String.length_append, String.length_append] at hlong
        obtain ⟨earlier, heading', body', later, rfl, hfits, hcut⟩ :=
          ih (Nat.not_lt.mp hpart) (by omega)
        refine ⟨(heading, body) :: earlier, heading', body', later, rfl, ?_, ?_⟩
        · rw [joined_cons, String.length_append, String.length_append]
          omega
        · rw [joined_cons, String.length_append, String.length_append]
          omega

end Parts

section Bundle

variable {budget : Nat} {read : ReadFile} {files : List FileRecord}

/-- The listing alone is too long: it is cut. -/
theorem manual_of_long_listing
    (hlong : budget < (listing files).length) :
    manual budget read files = ⟨Text.cut (listing files) budget, .manual, true⟩ := by
  have hfit : (fit budget (listing files)).1 = Text.cut (listing files) budget := by
    rw [fit, if_neg (Nat.not_le.mpr hlong)]
  simp only [manual, if_pos hlong, appendParts_of_full hlong, String.append_empty, hfit]

/-- Everything fits. -/
theorem manual_of_fits
    (hfits : (bundle read files).length ≤ budget) :
    manual budget read files = ⟨bundle read files, .manual, false⟩ := by
  rw [bundle, String.length_append] at hfits
  have hlisting : ¬ budget < (listing files).length := by
    omega
  simp only [manual, if_neg hlisting, appendParts_of_fits hfits, bundle]

/-- Everything fits in front of one part, which does not fit itself. -/
theorem manual_of_cut
    {earlier later : List (String × String)}
    {heading body : String}
    (hparts : parts read files = earlier ++ (heading, body) :: later)
    (hfits : (listing files).length + (joined earlier).length ≤ budget)
    (hcut : budget <
      (listing files).length + (joined earlier).length + (heading.length + body.length)) :
    manual budget read files =
      ⟨listing files ++ (joined earlier ++
        cutPart budget ((listing files).length + (joined earlier).length) heading body),
        .manual, true⟩ := by
  have hlisting : ¬ budget < (listing files).length := by
    omega
  simp only [manual, if_neg hlisting, hparts, appendParts_append hfits, appendParts_cons_of_lt hcut]

/-- A bundle that does not fit, but the listing of which does, is cut at one of its parts. -/
theorem exists_cut
    (hlisting : (listing files).length ≤ budget)
    (hlong : budget < (bundle read files).length) :
    ∃ earlier heading body later,
      parts read files = earlier ++ (heading, body) :: later ∧
        (listing files).length + (joined earlier).length ≤ budget ∧
        budget <
          (listing files).length + (joined earlier).length + (heading.length + body.length) := by
  rw [bundle, String.length_append] at hlong
  exact exists_first_unfit hlisting hlong

/-- The package is a beginning of the bundle. -/
theorem prefix_manual
    (budget : Nat)
    (read : ReadFile)
    (files : List FileRecord) :
    (manual budget read files).content.toList <+: (bundle read files).toList := by
  by_cases hfits : (bundle read files).length ≤ budget
  · have hall : (manual budget read files).content = bundle read files := by
      rw [manual_of_fits hfits]
    exact hall ▸ List.prefix_rfl
  · by_cases hlisting : budget < (listing files).length
    · rw [manual_of_long_listing hlisting, bundle, String.toList_append, Text.toList_cut]
      exact (List.take_prefix _ _).trans (List.prefix_append _ _)
    · obtain ⟨earlier, heading, body, later, hparts, hearlier, hcut⟩ :=
        exists_cut (Nat.not_lt.mp hlisting) (Nat.not_le.mp hfits)
      rw [manual_of_cut hparts hearlier hcut, bundle, hparts, joined_append, joined_cons]
      simp only [String.toList_append]
      refine (List.prefix_append_right_inj _).mpr ((List.prefix_append_right_inj _).mpr ?_)
      exact (prefix_cutPart _ _ heading body).trans (List.prefix_append _ _)

/-- Something is left out if and only if the bundle is too long. -/
theorem manual_truncated_iff
    (budget : Nat)
    (read : ReadFile)
    (files : List FileRecord) :
    (manual budget read files).truncated = true ↔ budget < (bundle read files).length := by
  by_cases hfits : (bundle read files).length ≤ budget
  · simpa [manual_of_fits hfits] using hfits
  · have hlong := Nat.not_le.mp hfits
    refine ⟨fun _ => hlong, fun _ => ?_⟩
    by_cases hlisting : budget < (listing files).length
    · rw [manual_of_long_listing hlisting]
    · obtain ⟨earlier, heading, body, later, hparts, hearlier, hcut⟩ :=
        exists_cut (Nat.not_lt.mp hlisting) hlong
      rw [manual_of_cut hparts hearlier hcut]

/-- A file that can be read has its heading in the bundle behind `start` characters. -/
def StandsAt
    (read : ReadFile)
    (files : List FileRecord)
    (file : FileRecord)
    (body : String)
    (start : Nat) : Prop :=
  ∃ earlier later,
    files = earlier ++ file :: later ∧
      read file = some body ∧
      start = (listing files).length + (joined (parts read earlier)).length

theorem StandsAt.exists_parts
    {file : FileRecord}
    {body : String}
    {start : Nat}
    (hstands : StandsAt read files file body start) :
    ∃ earlier later,
      parts read files = earlier ++ (heading file, body) :: later ∧
        start = (listing files).length + (joined earlier).length := by
  obtain ⟨earlier, later, hfiles, hread, hstart⟩ := hstands
  refine ⟨parts read earlier, parts read later, ?_, hstart⟩
  rw [hfiles, parts_append, parts_cons_of_read hread]

section File

variable {file : FileRecord} {body : String} {start : Nat}

/-- If the budget ends inside a body, the package takes all of it. -/
theorem StandsAt.length_of_cut_inside
    (hstands : StandsAt read files file body start)
    (hopening : start + (heading file).length < budget)
    (hcut : budget < start + (heading file).length + body.length) :
    (manual budget read files).content.length = budget := by
  obtain ⟨earlier, later, hparts, rfl⟩ := hstands.exists_parts
  rw [manual_of_cut hparts (by omega) (by omega)]
  simp only [cutPart, if_pos hopening, String.length_append, Text.length_cut]
  omega

/-- If the budget ends in front of a body, the package ends in front of the heading. -/
theorem StandsAt.length_of_cut_before
    (hstands : StandsAt read files file body start)
    (hstart : start ≤ budget)
    (hopening : budget ≤ start + (heading file).length)
    (hcut : budget < start + (heading file).length + body.length) :
    (manual budget read files).content.length = start := by
  obtain ⟨earlier, later, hparts, rfl⟩ := hstands.exists_parts
  rw [manual_of_cut hparts hstart (by omega)]
  simp only [cutPart, if_neg (Nat.not_lt.mpr hopening), String.length_append, String.length_empty]
  omega

/-- A file that fits is in the package. -/
theorem StandsAt.le_length_of_fits
    (hstands : StandsAt read files file body start)
    (hfits : start + (heading file).length + body.length ≤ budget) :
    start + (heading file).length + body.length ≤ (manual budget read files).content.length := by
  obtain ⟨earlier, later, hparts, rfl⟩ := hstands.exists_parts
  have hlisting : ¬ budget < (listing files).length := by
    omega
  have hjoined : (joined (earlier ++ [(heading file, body)])).length =
      (joined earlier).length + ((heading file).length + body.length) := by
    simp
  have hfits' : (listing files).length + (joined (earlier ++ [(heading file, body)])).length ≤
      budget := by
    omega
  have happend := appendParts_append hfits' later
  rw [List.append_assoc, List.singleton_append] at happend
  simp only [manual, if_neg hlisting, hparts, happend, String.length_append, hjoined]
  omega

/-- A package that ends inside a body takes the whole budget. -/
theorem StandsAt.length_of_ends_inside
    (hstands : StandsAt read files file body start)
    (hopening : start + (heading file).length < (manual budget read files).content.length)
    (hends : (manual budget read files).content.length <
      start + (heading file).length + body.length) :
    (manual budget read files).content.length = budget := by
  have hbudget := length_manual_le budget read files
  by_cases hfits : start + (heading file).length + body.length ≤ budget
  · have hlength := hstands.le_length_of_fits hfits
    omega
  · exact hstands.length_of_cut_inside (by omega) (by omega)

end File

end Bundle

/--
The package of the built-in packager is a beginning of the bundle, of at most as many characters as
the budget allows.  It is marked as truncated if and only if the bundle has more characters, and
otherwise it is the bundle.  For every file that can be read: if the budget ends inside its body, or
if the package does, then the package has as many characters as the budget allows; and if the budget
ends in its heading or right behind it, in front of a character of the body, then the package ends
where the file would have begun.
-/
theorem manual_cuts_bundle
    (budget : Nat)
    (read : ReadFile)
    (files : List FileRecord) :
    let packed := manual budget read files
    let whole := bundle read files
    packed.content.toList <+: whole.toList ∧
      packed.content.length ≤ budget ∧
      (packed.truncated = true ↔ budget < whole.length) ∧
      (packed.truncated = false → packed.content = whole) ∧
      ∀ file body start, StandsAt read files file body start →
        let opening := start + (heading file).length
        let stop := opening + body.length
        (opening < budget → budget < stop → packed.content.length = budget) ∧
          (opening < packed.content.length → packed.content.length < stop →
            packed.content.length = budget) ∧
          (start ≤ budget → budget ≤ opening → budget < stop →
            packed.content.length = start) := by
  intro packed whole
  have htruncated : packed.truncated = true ↔ budget < whole.length :=
    manual_truncated_iff budget read files
  refine ⟨prefix_manual budget read files, length_manual_le budget read files, htruncated, ?_, ?_⟩
  · intro hwhole
    have hfits : whole.length ≤ budget := by
      rw [← Nat.not_lt, ← htruncated, hwhole]
      exact Bool.false_ne_true
    exact congrArg Package.content (manual_of_fits hfits)
  · intro file body start hstands opening stop
    exact ⟨hstands.length_of_cut_inside, hstands.length_of_ends_inside,
      hstands.length_of_cut_before⟩

/-- Three files, of which the second cannot be read and the third is not in ASCII. -/
def mixedFiles : List FileRecord :=
  [⟨"p/a.py", "a.py", 5, some "py", some "python"⟩, ⟨"p/b.py", "b.py", 9, some "py", some "python"⟩,
   ⟨"p/ü.py", "ü.py", 13, some "py", some "python"⟩]

/-- What is read of these files. -/
def readMixed : ReadFile := fun file =>
  if file.relativePath = "a.py" then some "x = 1"
  else if file.relativePath = "ü.py" then some "größe = \"ä\""
  else none

/-- A budget that ends inside the last body is used up to the last character; if it ends right
behind the heading, the file is left out. -/
theorem mixed_bundle_cut :
    (bundle readMixed mixedFiles).length = 150 ∧
      StandsAt readMixed mixedFiles ⟨"p/ü.py", "ü.py", 13, some "py", some "python"⟩
        "größe = \"ä\"" 93 ∧
      (manual 145 readMixed mixedFiles).content.length = 145 ∧
      (manual 145 readMixed mixedFiles).truncated = true ∧
      (manual 139 readMixed mixedFiles).content.length = 93 := by
  have hstands : StandsAt readMixed mixedFiles ⟨"p/ü.py", "ü.py", 13, some "py", some "python"⟩
      "größe = \"ä\"" 93 :=
    ⟨mixedFiles.take 2, [], by decide +kernel, by decide +kernel, by decide +kernel⟩
  obtain ⟨-, -, htruncated, -, hinside⟩ := manual_cuts_bundle 145 readMixed mixedFiles
  obtain ⟨-, -, -, -, hbefore⟩ := manual_cuts_bundle 139 readMixed mixedFiles
  have hlength : (bundle readMixed mixedFiles).length = 150 := by
    decide +kernel
  refine ⟨hlength, hstands, ?_, htruncated.mpr (by omega), ?_⟩
  · exact (hinside _ _ _ hstands).1 (by decide +kernel) (by decide +kernel)
  · exact (hbefore _ _ _ hstands).2.2 (by decide +kernel) (by decide +kernel) (by decide +kernel)

end Packaging
end CodeAudit
