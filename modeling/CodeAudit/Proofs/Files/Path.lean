import CodeAudit.Files.Path
import Mathlib.Data.List.Basic
import Mathlib.Data.List.Induction

/-!
# The names in a path

Joining file names to a path adds them to the names of the path, one after another, however the
path is written: it may be empty, end in a slash, or hold empty parts and dots.

**Results.**
* `splitAt_eq_splitOn`: cutting a text is what the library calls splitting.
* `absent_or_last`: where a text is cut for the last time.
* `names_join`, `names_foldl_join`: the names of a joined path.
* `fileName?_foldl_join`: its last name.
* `foldl_join_eq`: names are joined one by one or all at once.
-/

namespace CodeAudit

namespace Text

theorem splitAt_eq_splitOn
    (separator : Char)
    (text : List Char) :
    splitAt separator text = text.splitOn separator := by
  induction text with
  | nil =>
      simp [splitAt]
  | cons c rest ih =>
      rw [List.splitOn_cons_eq_if_modifyHead, splitAt, ih]
      by_cases hc : c = separator
      · simp [hc]
      · rw [if_neg hc]
        cases hrest : rest.splitOn separator with
        | nil =>
            exact absurd hrest (List.splitOn_ne_nil separator rest)
        | cons piece pieces =>
            simp [hc]

/-- A text does not have a character, or it has it at a last place. -/
theorem absent_or_last
    (c : Char)
    (text : List Char) :
    c ∉ text ∨ ∃ front back, text = front ++ c :: back ∧ c ∉ back := by
  by_cases hmem : c ∈ text
  · obtain ⟨back, front, hreverse, hback⟩ :=
      List.eq_append_cons_of_mem (List.mem_reverse.mpr hmem)
    refine .inr ⟨front.reverse, back.reverse, ?_, by simpa using hback⟩
    rw [← List.reverse_reverse text, hreverse]
    simp
  · exact .inl hmem

end Text

namespace Path

/-- A name that an entry of a directory can have. -/
def IsFileName (name : String) : Prop :=
  name ≠ "" ∧ '/' ∉ name.toList ∧ name ≠ "." ∧ name ≠ ".."

instance (name : String) : Decidable (IsFileName name) :=
  inferInstanceAs (Decidable (_ ∧ _ ∧ _ ∧ _))

/-- The parts of a text between its slashes. -/
def partsIn (text : List Char) : List String :=
  ((text.splitOn '/').map String.ofList).filter fun part => !part.isEmpty

theorem parts_eq
    (path : String) :
    parts path = partsIn path.toList := by
  rw [parts, Text.splitAt_eq_splitOn, partsIn]

theorem partsIn_append_slash
    (front back : List Char) :
    partsIn (front ++ '/' :: back) = partsIn front ++ partsIn back := by
  simp only [partsIn, List.splitOn_append_cons_self, List.map_append, List.filter_append]

@[simp] theorem partsIn_nil :
    partsIn [] = [] := by
  simp [partsIn]

theorem partsIn_fileName
    {name : String}
    (hname : IsFileName name) :
    partsIn name.toList = [name] := by
  obtain ⟨hempty, hslash, -, -⟩ := hname
  rw [partsIn, List.splitOn_eq_singleton hslash]
  simp [hempty]

theorem names_eq
    (path : String) :
    names path = (parts path).filter fun part => part != "." := by
  unfold names steps
  cases hslash : endsInSlash path && !(parts path).isEmpty with
  | true =>
      simp [hslash]
  | false =>
      simp [hslash]

/-- The steps to a path are its parts, and a dot after them if a slash ends the path. -/
theorem steps_eq
    (path : String) :
    ∃ more, (more = [] ∨ more = ["."]) ∧ steps path = parts path ++ more := by
  unfold steps
  simp only
  split
  · exact ⟨["."], .inr rfl, rfl⟩
  · exact ⟨[], .inl rfl, (List.append_nil _).symm⟩

theorem steps_eq_concat
    {path last : String}
    (hlast : (parts path).getLast? = some last) :
    ∃ more, (more = [] ∨ more = ["."]) ∧ steps path = (parts path).dropLast ++ last :: more := by
  obtain ⟨more, hmore, hsteps⟩ := steps_eq path
  have hparts : parts path = (parts path).dropLast ++ [last] :=
    (List.dropLast_append_getLast? last hlast).symm
  refine ⟨more, hmore, ?_⟩
  rw [hsteps, List.append_cons, ← hparts]

theorem endsInSlash_iff
    (path : String) :
    endsInSlash path = true ↔ ∃ front, path.toList = front ++ ['/'] := by
  unfold endsInSlash
  rw [beq_iff_eq, List.getLast?_eq_some_iff]

theorem parts_join
    (base : String)
    {name : String}
    (hname : IsFileName name) :
    parts (join base name) = parts base ++ [name] := by
  have habsolute : isAbsolute name = false := by
    rw [isAbsolute, beq_eq_false_iff_ne]
    intro hhead
    exact hname.2.1 (List.mem_of_mem_head? hhead)
  rw [join, habsolute, Bool.false_or]
  by_cases hempty : base.isEmpty
  · rw [if_pos hempty, parts_eq, parts_eq, partsIn_fileName hname]
    have hbase : base = "" := by simpa using hempty
    simp [hbase]
  · rw [if_neg hempty]
    by_cases hslash : endsInSlash base = true
    · rw [if_pos hslash]
      obtain ⟨front, hfront⟩ := (endsInSlash_iff base).mp hslash
      rw [parts_eq, parts_eq, String.toList_append, hfront, List.append_assoc,
        List.singleton_append, partsIn_append_slash, partsIn_append_slash,
        partsIn_fileName hname, partsIn_nil, List.append_nil]
    · rw [if_neg hslash, parts_eq, parts_eq]
      have hlist : (base ++ "/" ++ name).toList = base.toList ++ '/' :: name.toList := by
        simp
      rw [hlist, partsIn_append_slash, partsIn_fileName hname]

/-- Joining a file name adds it to the names of a path. -/
theorem names_join
    (base : String)
    {name : String}
    (hname : IsFileName name) :
    names (join base name) = names base ++ [name] := by
  rw [names_eq, names_eq, parts_join base hname, List.filter_append]
  simp [hname.2.2.1]

theorem names_foldl_join
    (base : String)
    {rest : List String}
    (hrest : ∀ name ∈ rest, IsFileName name) :
    names (rest.foldl join base) = names base ++ rest := by
  induction rest generalizing base with
  | nil =>
      simp
  | cons name rest ih =>
      have hname : IsFileName name := hrest name List.mem_cons_self
      have hbelow : ∀ other ∈ rest, IsFileName other := by
        intro other hother
        exact hrest other (List.mem_cons_of_mem name hother)
      rw [List.foldl_cons, ih (join base name) hbelow, names_join base hname]
      simp

/-- The last name of a joined path is the last name that was joined. -/
theorem fileName?_foldl_join
    (base : String)
    {rest : List String}
    (hrest : ∀ name ∈ rest, IsFileName name)
    (hne : rest ≠ []) :
    fileName? (rest.foldl join base) = some (rest.getLast hne) := by
  have hlast : IsFileName (rest.getLast hne) := hrest _ (List.getLast_mem hne)
  rw [fileName?, names_foldl_join base hrest, List.getLast?_append_of_ne_nil _ hne,
    List.getLast?_eq_some_getLast hne]
  simp [hlast.2.2.2]

/-- What stands in front of a relative path when it is joined to a path. -/
def front (base : String) : String :=
  if base.isEmpty then "" else if endsInSlash base then base else base ++ "/"

theorem join_of_relative
    (base : String)
    {path : String}
    (hrelative : isAbsolute path = false) :
    join base path = front base ++ path := by
  rw [join, hrelative, Bool.false_or, front]
  split
  · rw [String.empty_append]
  · split
    · rfl
    · rfl

theorem IsFileName.ends
    {name : String}
    (hname : IsFileName name) :
    isAbsolute name = false ∧ endsInSlash name = false := by
  constructor
  · rw [isAbsolute, beq_eq_false_iff_ne]
    intro hhead
    exact hname.2.1 (List.mem_of_mem_head? hhead)
  · rw [endsInSlash, beq_eq_false_iff_ne]
    intro hlast
    exact hname.2.1 (List.mem_of_mem_getLast? hlast)

/-- A joined path begins as the path does to which the name is joined. -/
theorem isAbsolute_join
    (base : String)
    {name : String}
    (hname : IsFileName name) :
    isAbsolute (join base name) = isAbsolute base := by
  rw [join_of_relative base hname.ends.1, front]
  by_cases hempty : base = ""
  · rw [hempty]
    exact hname.ends.1
  · have hfront : base.toList ≠ [] := mt String.toList_eq_nil_iff.mp hempty
    rw [if_neg (by simpa using hempty), isAbsolute, isAbsolute]
    split
    · rw [String.toList_append, List.head?_append_of_ne_nil _ hfront]
    · rw [String.toList_append, String.toList_append, List.append_assoc,
        List.head?_append_of_ne_nil _ hfront]

/-- A joined path leads through the parts of the path to the name. -/
theorem steps_join
    (base : String)
    {name : String}
    (hname : IsFileName name) :
    steps (join base name) = parts base ++ [name] := by
  have hname' : name.toList ≠ [] := mt String.toList_eq_nil_iff.mp hname.1
  have hopen : endsInSlash (join base name) = false := by
    have hlast := hname.ends.2
    rw [endsInSlash] at hlast ⊢
    rwa [join_of_relative base hname.ends.1, String.toList_append,
      List.getLast?_append_of_ne_nil _ hname']
  unfold steps
  simp only [hopen, Bool.false_and, Bool.false_eq_true, if_false]
  exact parts_join base hname

/-- What follows a name can be put on before or after it is joined. -/
theorem join_append
    (base : String)
    {path : String}
    (hpath : path ≠ "")
    (ending : String) :
    join base path ++ ending = join base (path ++ ending) := by
  have hne : path.toList ≠ [] := mt String.toList_eq_nil_iff.mp hpath
  have habsolute : isAbsolute (path ++ ending) = isAbsolute path := by
    rw [isAbsolute, isAbsolute, String.toList_append, List.head?_append_of_ne_nil _ hne]
  rw [join, join, habsolute]
  split
  · rfl
  · split <;> simp only [String.append_assoc]

/-- Names with slashes between them begin and end as names do. -/
theorem intercalate_ends
    {names : List String}
    (hnames : ∀ name ∈ names, IsFileName name)
    (hne : names ≠ []) :
    "/".intercalate names ≠ "" ∧ isAbsolute ("/".intercalate names) = false ∧
      endsInSlash ("/".intercalate names) = false := by
  induction names using List.reverseRecOn with
  | nil =>
      exact absurd rfl hne
  | append_singleton names name ih =>
      have hname : IsFileName name := hnames name (by simp)
      by_cases hrest : names = []
      · rw [hrest, List.nil_append, String.intercalate_singleton]
        exact ⟨hname.1, hname.ends⟩
      · obtain ⟨hsome, habsolute, -⟩ := ih (fun other hother => hnames other (by simp [hother])) hrest
        have hfront : ("/".intercalate names).toList ≠ [] := mt String.toList_eq_nil_iff.mp hsome
        have hback : name.toList ≠ [] := mt String.toList_eq_nil_iff.mp hname.1
        rw [String.intercalate_append_of_ne_nil hrest (by simp), String.intercalate_singleton]
        refine ⟨?_, ?_, ?_⟩
        · intro hempty
          exact hname.1 (by simpa using congrArg String.toList hempty)
        · rw [isAbsolute] at habsolute ⊢
          rwa [String.toList_append, String.toList_append, List.append_assoc,
            List.head?_append_of_ne_nil _ hfront]
        · have hlast := hname.ends.2
          rw [endsInSlash] at hlast ⊢
          rwa [String.toList_append, List.getLast?_append_of_ne_nil _ hback]

/-- Joining names one after another is joining the path that they make. -/
theorem foldl_join_eq
    (base : String)
    {names : List String}
    (hnames : ∀ name ∈ names, IsFileName name)
    (hne : names ≠ []) :
    names.foldl join base = join base ("/".intercalate names) := by
  induction names using List.reverseRecOn with
  | nil =>
      exact absurd rfl hne
  | append_singleton names name ih =>
      have hname : IsFileName name := hnames name (by simp)
      have hfront : ∀ other ∈ names, IsFileName other :=
        fun other hother => hnames other (by simp [hother])
      rw [List.foldl_append, List.foldl_cons, List.foldl_nil]
      by_cases hrest : names = []
      · simp [hrest]
      · have hall := intercalate_ends hnames hne
        obtain ⟨hsome, habsolute, hslash⟩ := intercalate_ends hfront hrest
        rw [join_of_relative base hall.2.1, ih hfront hrest, join_of_relative base habsolute,
          join, hname.ends.1, Bool.false_or,
          String.intercalate_append_of_ne_nil hrest (by simp), String.intercalate_singleton]
        have hempty : (front base ++ "/".intercalate names).isEmpty = false := by
          rw [Bool.eq_false_iff]
          intro hempty
          simp [hsome] at hempty
        have hopen : endsInSlash (front base ++ "/".intercalate names) = false := by
          have hne : ("/".intercalate names).toList ≠ [] := mt String.toList_eq_nil_iff.mp hsome
          rw [endsInSlash] at hslash ⊢
          rwa [String.toList_append, List.getLast?_append_of_ne_nil _ hne]
        rw [if_neg (by simp [hempty]), if_neg (by simp [hopen])]
        simp only [String.append_assoc]

end Path

end CodeAudit
