import CodeAudit.Proofs.Json.Printing

/-!
# Readers of printed values

A reader reads a value back if it gives this value for every node that stands for it.  The readers
of texts, counts, numbers and labels do so for their own values, and readers that are put together
do so if their parts do: of a list for the items, of an object with any keys for the values, of a
record for its members.  Every member of a printed record is there once, so the reader finds each by
its name and has them in the order of declaration.

**Results.**
* `Reads.text`, `Reads.count`, `Reads.real`, `Reads.label`: single values.
* `Reads.list`, `Reads.dictionary`, `Reads.record`: values with others in them.
* `Reads.parse_pretty`: reading the text of a value.
-/

namespace CodeAudit
namespace Json

/-- A value without others in it that a report can have. -/
def Value.Reported : Value → Prop
  | .integer n => 0 ≤ n
  | .single _ => False
  | _ => True

/-- A reader reads a value from every node that stands for it. -/
structure Reads
    (reader : Reader)
    (value : Value) : Prop where
  reported : ∀ leaf ∈ value.leaves, leaf.Reported
  reads : ∀ node, Stands node value → reader node = .ok value

/-- A field is a member under its only name, and with a value that the member reads back. -/
structure Member.Takes
    (member : Member)
    (field : String × Value) : Prop where
  names : member.names = [field.1]
  reads : Reads member.reader field.2

theorem Member.Takes.name_eq
    {member : Member}
    {field : String × Value}
    (htakes : member.Takes field) :
    member.name = field.1 := by
  rw [Member.name, htakes.names]
  rfl

theorem Value.mem_itemLeaves_iff
    {leaf : Value}
    {items : List Value} :
    leaf ∈ itemLeaves items ↔ ∃ item ∈ items, leaf ∈ item.leaves := by
  induction items with
  | nil =>
      simp [itemLeaves]
  | cons item rest ih =>
      simp [itemLeaves, ih]

theorem Value.mem_memberLeaves_iff
    {leaf : Value}
    {members : List (String × Value)} :
    leaf ∈ memberLeaves members ↔ ∃ member ∈ members, leaf ∈ member.2.leaves := by
  induction members with
  | nil =>
      simp [memberLeaves]
  | cons member rest ih =>
      simp [memberLeaves, ih]

namespace Numeral

theorem real_ne_integer
    (numeral : Numeral)
    (n : Int) :
    numeral.real ≠ .integer n := by
  unfold real
  simp only
  split
  · split <;> simp
  · split
    · split <;> simp
    · split <;> simp

/-- An integer that is the value of a numeral has at most 64 bits. -/
theorem lt_of_value
    {numeral : Numeral}
    {n : Int}
    (hvalue : numeral.value = .integer n) :
    n < 2 ^ 64 := by
  have hle := absorbWhole_le (Nat.zero_le greatestSignificand) numeral.whole
  unfold value at hvalue
  split at hvalue
  · exact absurd hvalue (real_ne_integer numeral n)
  · split at hvalue
    · next magnitude habsorbed =>
        rw [habsorbed] at hle
        have hmagnitude : magnitude < 2 ^ 64 := Nat.lt_succ_of_le hle
        split at hvalue
        · obtain rfl := NumeralValue.integer.inj hvalue
          omega
        · split at hvalue
          · cases hvalue
          · obtain rfl := NumeralValue.integer.inj hvalue
            omega
    · exact absurd hvalue (real_ne_integer numeral n)

end Numeral

namespace Reads

variable {reader : Reader} {value : Value}

section Single

@[simp] theorem text
    (content : String) :
    Reads Reader.text (.text content) where
  reported := by simp [Value.leaves, Value.Reported]
  reads node hstands := by
    cases hstands
    rfl

@[simp] theorem truth
    (value : Bool) :
    Reads Reader.truth (.truth value) where
  reported := by simp [Value.leaves, Value.Reported]
  reads node hstands := by
    cases hstands
    rfl

@[simp] theorem real
    (x : Floating) :
    Reads Reader.real (.real x) where
  reported := by simp [Value.leaves, Value.Reported]
  reads node hstands := by
    cases hstands with
    | real hread =>
        exact hread

@[simp] theorem label
    {labels : List String}
    {content : String}
    (hlabel : content ∈ labels) :
    Reads (Reader.label labels) (.text content) where
  reported := by simp [Value.leaves, Value.Reported]
  reads node hstands := by
    cases hstands
    have hcontains : labels.contains content = true := List.contains_iff_mem.mpr hlabel
    rw [Reader.label]
    change (if labels.contains content = true then _ else _) = _
    rw [if_pos hcontains]
    rfl

theorem formatted
    {expected content : String}
    {normal? : String → Option String}
    (hnormal : normal? content = some content) :
    Reads (Reader.formatted expected normal?) (.text content) where
  reported := by simp [Value.leaves, Value.Reported]
  reads node hstands := by
    cases hstands
    simp only [Reader.formatted, hnormal]

@[simp] theorem count
    (n : Nat) :
    Reads (Reader.count 64) (.ofCount n) where
  reported := by simp [Value.ofCount, Value.leaves, Value.Reported]
  reads node hstands := by
    rw [Value.ofCount] at hstands ⊢
    cases hstands with
    | integer hvalue =>
        have hlt := Numeral.lt_of_value hvalue
        have hfits : (0 ≤ (n : Int) && decide ((n : Int) < (Nat.pow 2 64 : Nat))) = true := by
          simpa using hlt
        simp only [Reader.count, hvalue, hfits, if_true]

@[simp] theorem optional_null
    (reader : Reader) :
    Reads (Reader.optional reader) .null where
  reported := by simp [Value.leaves, Value.Reported]
  reads node hstands := by
    cases hstands
    rfl

theorem optional
    (hreads : Reads reader value) :
    Reads (Reader.optional reader) value where
  reported := hreads.reported
  reads node hstands := by
    by_cases hnull : ∃ start stop, node = .null start stop
    · obtain ⟨start, stop, rfl⟩ := hnull
      cases hstands
      rfl
    · have hother : Reader.optional reader node = reader node := by
        cases node with
        | null start stop =>
            exact absurd ⟨start, stop, rfl⟩ hnull
        | _ =>
            rfl
      rw [hother]
      exact hreads.reads node hstands

/-- A value that may be missing. -/
theorem ofOption
    {α : Type}
    {encode : α → Value}
    {given : Option α}
    (hreads : ∀ a, given = some a → Reads reader (encode a)) :
    Reads (Reader.optional reader) (Value.ofOption encode given) := by
  cases given with
  | none =>
      exact optional_null reader
  | some a =>
      exact (hreads a rfl).optional

end Single

section Compound

/-- The items of a list, each read from its node. -/
theorem mapM_eq_ok
    {nodes : List Node}
    {items : List Value}
    (hstands : List.Forall₂ Stands nodes items)
    (hreads : ∀ item ∈ items, Reads reader item) :
    nodes.mapM reader = .ok items := by
  induction hstands with
  | nil =>
      rfl
  | cons hnode _ ih =>
      rw [List.forall_mem_cons] at hreads
      rw [List.mapM_cons, hreads.1.reads _ hnode, ih hreads.2]
      rfl

theorem list
    {items : List Value}
    (hreads : ∀ item ∈ items, Reads reader item) :
    Reads (Reader.list reader) (.list items) where
  reported leaf hleaf := by
    obtain ⟨item, hitem, hmem⟩ := Value.mem_itemLeaves_iff.mp hleaf
    exact (hreads item hitem).reported leaf hmem
  reads node hstands := by
    cases hstands with
    | list hitems =>
        rw [Reader.list, mapM_eq_ok hitems hreads]
        rfl

theorem reported_object
    {fields : List (String × Value)}
    (hreported : ∀ field ∈ fields, ∀ leaf ∈ field.2.leaves, leaf.Reported) :
    ∀ leaf ∈ (Value.object fields).leaves, leaf.Reported := by
  intro leaf hleaf
  obtain ⟨field, hfield, hmem⟩ := Value.mem_memberLeaves_iff.mp hleaf
  exact hreported field hfield leaf hmem

/-- A key that comes behind all others is put at the end. -/
theorem insertMember_last
    {key : String}
    {value : Value}
    {read : List (String × Value)}
    (hlast : ∀ entry ∈ read, entry.1 < key) :
    insertMember key value read = read ++ [(key, value)] := by
  induction read with
  | nil =>
      rfl
  | cons entry rest ih =>
      obtain ⟨other, kept⟩ := entry
      rw [List.forall_mem_cons] at hlast
      have hne : key ≠ other := fun heq => String.lt_irrefl _ (heq ▸ hlast.1)
      have hnot : ¬ key < other := fun hlt => String.lt_irrefl _ (String.lt_trans hlt hlast.1)
      rw [insertMember, if_neg hne, if_neg hnot, ih hlast.2]
      rfl

theorem entries_eq_ok
    {members : List (Key × Node)}
    {fields read : List (String × Value)}
    (hkeys : members.map (fun member => member.1.text) = fields.map fun field => .ok field.1)
    (hvalues : List.Forall₂ Stands (members.map Prod.snd) (fields.map Prod.snd))
    (hreads : ∀ field ∈ fields, Reads reader field.2)
    (hordered : ((read ++ fields).map Prod.fst).Pairwise (· < ·)) :
    Reader.entries reader read members = .ok (read ++ fields) := by
  induction members generalizing fields read with
  | nil =>
      cases fields with
      | nil =>
          rw [List.append_nil]
          rfl
      | cons field fields =>
          cases hkeys
  | cons member members ih =>
      cases fields with
      | nil =>
          cases hkeys
      | cons field fields =>
          obtain ⟨key, node⟩ := member
          obtain ⟨name, value⟩ := field
          rw [List.map_cons, List.map_cons] at hkeys hvalues
          obtain ⟨hkey, hkeys⟩ := List.cons.inj hkeys
          rw [List.forall₂_cons] at hvalues
          rw [List.forall_mem_cons] at hreads
          have hlast : ∀ entry ∈ read, entry.1 < name := by
            intro entry hentry
            rw [List.map_append, List.pairwise_append] at hordered
            exact hordered.2.2 _ (List.mem_map_of_mem hentry) _ (by simp)
          have hordered' : ((read ++ [(name, value)] ++ fields).map Prod.fst).Pairwise (· < ·) := by
            simpa using hordered
          have hrest := ih hkeys hvalues.2 hreads.2 hordered'
          rw [Reader.entries]
          simp only at hkey hvalues hreads ⊢
          rw [hkey, hreads.1.reads node hvalues.1]
          change Reader.entries reader (insertMember name value read) members = _
          rw [insertMember_last hlast, hrest, List.append_assoc]
          rfl

/-- An object with any keys is read back if its keys are in order. -/
theorem dictionary
    {fields : List (String × Value)}
    (hreads : ∀ field ∈ fields, Reads reader field.2)
    (hordered : (fields.map Prod.fst).Pairwise (· < ·)) :
    Reads (Reader.dictionary reader) (.object fields) where
  reported := reported_object fun field hfield => (hreads field hfield).reported
  reads node hstands := by
    cases hstands with
    | object hkeys hvalues =>
        rw [Reader.dictionary, entries_eq_ok hkeys hvalues hreads (by simpa using hordered)]
        rfl

end Compound

section Record

theorem lookup_of_mem
    {entries : List (String × Value)}
    (hnodup : (entries.map Prod.fst).Nodup)
    {entry : String × Value}
    (hmem : entry ∈ entries) :
    entries.lookup entry.1 = some entry.2 := by
  induction entries with
  | nil =>
      cases hmem
  | cons first rest ih =>
      rw [List.map_cons, List.nodup_cons] at hnodup
      rcases List.mem_cons.mp hmem with rfl | hrest
      · rw [List.lookup_cons, beq_self_eq_true]
      · have hne : (entry.1 == first.1) = false := by
          rw [beq_eq_false_iff_ne]
          intro heq
          exact hnodup.1 (heq ▸ List.mem_map_of_mem hrest)
        rw [List.lookup_cons, hne]
        exact ih hnodup.2 hrest

theorem lookup_eq_none
    {entries : List (String × Value)}
    {key : String}
    (hkey : key ∉ entries.map Prod.fst) :
    entries.lookup key = none := by
  rw [List.lookup_eq_none_iff]
  intro entry hentry
  rw [bne_iff_ne]
  rintro rfl
  exact hkey (List.mem_map_of_mem hentry)

/-- The member of a field is the one that is found by the name of the field. -/
theorem find?_of_takes
    {members : List Member}
    {fields : List (String × Value)}
    (htakes : List.Forall₂ Member.Takes members fields)
    (hnodup : (fields.map Prod.fst).Nodup)
    {field : String × Value}
    (hfield : field ∈ fields) :
    ∃ member, (members.find? fun member => member.names.contains field.1) = some member ∧
      member.Takes field := by
  induction htakes with
  | nil =>
      cases hfield
  | @cons member first members fields hfirst _ ih =>
      rw [List.map_cons, List.nodup_cons] at hnodup
      rcases List.mem_cons.mp hfield with rfl | hrest
      · refine ⟨member, ?_, hfirst⟩
        rw [List.find?_cons_of_pos]
        simp [hfirst.names]
      · have hne : field.1 ≠ first.1 := by
          intro heq
          exact hnodup.1 (heq ▸ List.mem_map_of_mem hrest)
        rw [List.find?_cons_of_neg]
        · exact ih hnodup.2 hrest
        · simpa [hfirst.names] using hne

/-- The members that are read are put in front of those read before. -/
theorem named_eq_ok
    {members : List Member}
    {found : List (Key × Node)}
    {fields read : List (String × Value)}
    (hkeys : found.map (fun member => member.1.text) = fields.map fun field => .ok field.1)
    (hvalues : List.Forall₂ Stands (found.map Prod.snd) (fields.map Prod.snd))
    (hfind : ∀ field ∈ fields,
      ∃ member, (members.find? fun member => member.names.contains field.1) = some member ∧
        member.Takes field)
    (hnodup : ((read ++ fields).map Prod.fst).Nodup) :
    Reader.named members read found = .ok (fields.reverse ++ read) := by
  induction found generalizing fields read with
  | nil =>
      cases fields with
      | nil =>
          rfl
      | cons field fields =>
          cases hkeys
  | cons first found ih =>
      cases fields with
      | nil =>
          cases hkeys
      | cons field fields =>
          obtain ⟨key, node⟩ := first
          obtain ⟨name, value⟩ := field
          rw [List.map_cons, List.map_cons] at hkeys hvalues
          obtain ⟨hkey, hkeys⟩ := List.cons.inj hkeys
          rw [List.forall₂_cons] at hvalues
          rw [List.forall_mem_cons] at hfind
          obtain ⟨⟨member, hfound, htakes⟩, hfind⟩ := hfind
          have hname : member.name = name := htakes.name_eq
          have hnew : read.lookup name = none := by
            apply lookup_eq_none
            intro hmem
            rw [List.map_append, List.nodup_append] at hnodup
            exact hnodup.2.2 name hmem name (by simp) rfl
          have hnodup' : (((name, value) :: read ++ fields).map Prod.fst).Nodup := by
            have hperm : ((name, value) :: read ++ fields).Perm (read ++ (name, value) :: fields) :=
              List.perm_middle.symm
            exact (hperm.map Prod.fst).nodup_iff.mpr hnodup
          have hrest := ih hkeys hvalues.2 hfind hnodup'
          rw [Reader.named]
          simp only at hkey hvalues hfound ⊢
          rw [hkey]
          simp only [bind, Except.bind]
          rw [hfound]
          simp only [hname, hnew]
          change (do
            let value ← member.reader node
            Reader.named members ((name, value) :: read) found) = _
          rw [htakes.reads.reads node hvalues.1]
          change Reader.named members ((name, value) :: read) found = _
          rw [hrest, List.reverse_cons, List.append_assoc]
          rfl

theorem completed_eq_ok
    {members : List Member}
    {fields read : List (String × Value)}
    (htakes : List.Forall₂ Member.Takes members fields)
    (hread : ∀ field ∈ fields, read.lookup field.1 = some field.2)
    (stop : Nat) :
    Reader.completed stop read members = .ok fields := by
  induction htakes with
  | nil =>
      rfl
  | @cons member field members fields hfirst _ ih =>
      rw [List.forall_mem_cons] at hread
      rw [Reader.completed, hfirst.name_eq, hread.1, ih hread.2]
      rfl

theorem map_name_of_takes
    {members : List Member}
    {fields : List (String × Value)}
    (htakes : List.Forall₂ Member.Takes members fields) :
    members.map Member.name = fields.map Prod.fst := by
  induction htakes with
  | nil =>
      rfl
  | @cons member field members fields hfirst _ ih =>
      rw [List.map_cons, List.map_cons, hfirst.name_eq, ih]

/-- A record is read back if its members read its fields, which have different names. -/
theorem record
    {name : String}
    {members : List Member}
    {fields : List (String × Value)}
    (hnodup : (members.map Member.name).Nodup)
    (htakes : List.Forall₂ Member.Takes members fields) :
    Reads (Reader.record name members) (.object fields) where
  reported := by
    apply reported_object
    intro field hfield
    rw [map_name_of_takes htakes] at hnodup
    obtain ⟨member, -, hmember⟩ := find?_of_takes htakes hnodup hfield
    exact hmember.reads.reported
  reads node hstands := by
    rw [map_name_of_takes htakes] at hnodup
    cases hstands with
    | @object found _ start stop hkeys hvalues =>
        have hnodup' : (([] ++ fields).map Prod.fst).Nodup := hnodup
        have hnamed := named_eq_ok hkeys hvalues (fun field => find?_of_takes htakes hnodup) hnodup'
        have hread : ∀ field ∈ fields, fields.reverse.lookup field.1 = some field.2 := by
          intro field hfield
          apply lookup_of_mem
          · rw [List.map_reverse]
            exact (List.reverse_perm _).nodup_iff.mpr hnodup
          · rwa [List.mem_reverse]
        rw [List.append_nil] at hnamed
        rw [Reader.record, hnamed]
        change (do
          let entries ← Reader.completed stop fields.reverse members
          return Value.object entries) = _
        rw [completed_eq_ok htakes hread]
        rfl

end Record

end Reads

section Stored

/--
The numbers of a value can be stored: counts fit 64 bits, all other numbers are finite, and the
library gives a finite number back from its text.
-/
structure Value.Storable (value : Value) : Prop where
  counts : ∀ n, Value.integer n ∈ value.leaves → n < 2 ^ 64
  finite : ∀ x, Value.real x ∈ value.leaves → x.isFinite = true
  library : ∀ x, Value.real x ∈ value.leaves → x.isFinite = true → ReadsBack x

/-- What is read from every node of a value is read from its text. -/
theorem Reads.parse_pretty
    {reader : Reader}
    {value : Value}
    (hreads : Reads reader value)
    (hstorable : value.Storable) :
    reader.parse value.pretty = .ok value := by
  have hprintable : ∀ leaf ∈ value.leaves, leaf.Printable := by
    intro leaf hleaf
    have hreported := hreads.reported leaf hleaf
    cases leaf with
    | integer n =>
        exact ⟨hreported, hstorable.counts n hleaf⟩
    | real x =>
        exact hstorable.library x hleaf (hstorable.finite x hleaf)
    | single x =>
        exact hreported
    | _ =>
        trivial
  obtain ⟨node, hdocument, hstands⟩ := document_pretty hprintable
  rw [Reader.parse, hdocument]
  simp only
  rw [hreads.reads node hstands]
  rfl

end Stored

end Json
end CodeAudit
